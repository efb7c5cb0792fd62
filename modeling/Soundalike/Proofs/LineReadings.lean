import Soundalike.Proofs.Concatenation

set_option autoImplicit false

/-!
# How one line is read

What a scan takes from a line hangs on its trimmed form alone: whether it opens or closes a block
comment, and what it states (`openAfterLine_congr`, `trim_beforeComment_congr`).  Lines that each
state something where no comment is open are read one by one (`readLines_of_states`).  A line that
is looked at where it stands in a source is scanned between the lines before it and those after it
(`exists_statementLines_at`).
-/

namespace Soundalike

theorem Statement.Writes.ne_nil {line : Text} {statement : Statement} (h : Writes line statement) :
    line ≠ [] := by
  rintro rfl
  cases h with
  | folding hsides _ _ => cases hsides.mem
  | rule _ hfields _ => cases hfields

namespace Source

/-! ## Comments behind a line -/

/-- Cutting goes on behind a text without a comment, unless a slash comes next. -/
theorem beforeComment_append_cons {text : Text} (hfree : ¬ ['/', '/'] <:+: text) {c : Char}
    (hc : c ≠ '/') (rest : Text) :
    beforeComment (text ++ c :: rest) = text ++ c :: beforeComment rest := by
  induction text with
  | nil => exact beforeComment_cons (by simp [List.cons_prefix_cons, hc.symm])
  | cons d text ih =>
    rw [List.infix_cons_iff, not_or] at hfree
    obtain ⟨hstart, htail⟩ := hfree
    rw [List.cons_append, beforeComment_cons, ih htail]
    · rfl
    · -- a comment that starts here would start inside the text, since `c` is no slash
      cases text with
      | nil => simp [List.cons_prefix_cons, hc.symm]
      | cons e text => simpa [List.cons_prefix_cons] using hstart

/-- Behind a comment nothing counts. -/
theorem beforeComment_append_of_isInfix {text : Text} (hcomment : ['/', '/'] <:+: text)
    (rest : Text) : beforeComment (text ++ rest) = beforeComment text := by
  induction text with
  | nil => simp at hcomment
  | cons c text ih =>
    by_cases hstart : ['/', '/'] <+: c :: text
    · obtain ⟨comment, hcons⟩ := hstart
      rw [← hcons]
      rfl
    · have htail : ['/', '/'] <:+: text := (List.infix_cons_iff.mp hcomment).resolve_left hstart
      rw [beforeComment_cons hstart, List.cons_append, beforeComment_cons, ih htail]
      cases text with
      | nil => simp at htail
      | cons d text => simpa [List.cons_prefix_cons] using hstart

/-- Nothing is cut off a text without a comment, and of no other text. -/
theorem beforeComment_eq_self_iff {text : Text} :
    beforeComment text = text ↔ ¬ ['/', '/'] <:+: text := by
  constructor
  · intro h
    rcases isCutAtComment_beforeComment text with ⟨hfree, -⟩ | ⟨comment, hcut, -⟩
    · exact hfree
    · have hlength := congrArg List.length hcut
      simp only [h, List.length_append, List.length_cons] at hlength
      omega
  · intro hfree
    exact beforeComment_eq_of_isCutAtComment (Or.inl ⟨hfree, rfl⟩)

/-- A comment needs two slashes. -/
theorem not_isInfix_of_count_lt {text : Text} (h : text.count '/' < 2) :
    ¬ ['/', '/'] <:+: text := by
  intro hcomment
  have htwo : ['/', '/'].count '/' ≤ text.count '/' := hcomment.sublist.count_le '/'
  have hcount : ['/', '/'].count '/' = 2 := by decide
  omega

/-- Blanks have no slash. -/
theorem count_slash_of_isBlank {text : Text} (h : Text.IsBlank text) : text.count '/' = 0 :=
  List.count_eq_zero.mpr (h.not_mem rfl)

/-! ## Trimmed forms -/

variable {number : Nat} {written other : Text} {statement : Statement}

theorem openAfterLine_congr (h : Text.trim written = Text.trim other) (inBlock : Bool) :
    openAfterLine inBlock written = openAfterLine inBlock other := by
  rw [openAfterLine, openAfterLine, h]

theorem trim_beforeComment_congr (h : Text.trim written = Text.trim other) :
    Text.trim (beforeComment written) = Text.trim (beforeComment other) := by
  rw [← trim_beforeComment_trim, h, trim_beforeComment_trim]

theorem opens_congr (h : Text.trim written = Text.trim other) : Opens written ↔ Opens other := by
  rw [Opens, Opens, h]

theorem openAfterLine_of_not_opens (h : ¬ Opens written) : openAfterLine false written = false := by
  rw [Opens, ← opensBlock_iff, Bool.not_eq_true] at h
  simp [openAfterLine, h]

/-- White space behind a text does not make it start a block comment. -/
theorem not_isPrefix_append {text rest : Text} (hne : text ≠ []) (hfree : ¬ ['/', '*'] <+: text)
    (hrest : ∀ c ∈ rest.head?, Text.isWhiteSpace c = true) : ¬ ['/', '*'] <+: text ++ rest := by
  obtain ⟨c, tail, rfl⟩ := List.exists_cons_of_ne_nil hne
  cases tail with
  | cons d tail => simpa [List.cons_prefix_cons] using hfree
  | nil =>
    -- the star would be the white space behind a text of one character
    cases rest with
    | nil => simp [List.cons_prefix_cons]
    | cons d rest =>
      have hstar : d ≠ '*' := Text.ne_of_isWhiteSpace (hrest d rfl) rfl
      simp [List.cons_prefix_cons, hstar.symm]

/-- White space at the end of a line does not count for what it opens. -/
theorem opens_iff_isPrefix_trimStart : Opens written ↔ ['/', '*'] <+: Text.trimStart written := by
  obtain ⟨after, hafter, hstart⟩ := Text.exists_trimStart_eq written
  rw [Opens, hstart]
  constructor
  · exact fun h => h.trans (List.prefix_append _ _)
  · intro h
    by_contra hfree
    cases htrim : Text.trim written with
    | nil =>
      rw [htrim, List.nil_append] at h
      exact hafter.not_mem rfl (h.subset List.mem_cons_self)
    | cons c text =>
      rw [htrim] at h hfree
      refine not_isPrefix_append (List.cons_ne_nil c text) hfree ?_ h
      exact fun d hd => hafter d (List.mem_of_head? hd)

theorem lineOf?_of_opens (h : Opens written) (number : Nat) : lineOf? number written = none := by
  simp [lineOf?, opensBlock_iff.mpr h]

theorem lineOf?_of_trim_eq_nil (h : Text.trim written = []) (number : Nat) :
    lineOf? number written = none := by
  have hcut : Text.trim (beforeComment written) = [] := by
    rw [← trim_beforeComment_trim, h]
    rfl
  simp [lineOf?, hcut]

theorem not_opens_of_trim_eq_nil (h : Text.trim written = []) : ¬ Opens written := by
  simp [Opens, h]

/-! ## Lines that state something -/

/-- A line that gives a statement where no block comment is open before it. -/
structure States (written : Text) (statement : Statement) : Prop where
  not_opens : ¬ Opens written
  writes : Statement.Writes (Text.trim (beforeComment written)) statement

theorem States.lineOf?_eq (h : States written statement) (number : Nat) :
    lineOf? number written = some ⟨number, written, Text.trim (beforeComment written)⟩ :=
  lineOf?_eq_some_iff.mpr
    ⟨h.not_opens, _, isCutAtComment_beforeComment written, h.writes.ne_nil, rfl⟩

/-- Lines that state something one by one are read as what they state. -/
theorem readLines_of_states {lines : List Text} {stated : List Statement}
    (h : List.Forall₂ States lines stated) (number : Nat) :
    readLines (statementLines number false lines) = .ok stated := by
  induction h generalizing number with
  | nil => rfl
  | @cons written statement lines stated hline _ ih =>
    have hread : readLine ⟨number, written, Text.trim (beforeComment written)⟩ = .ok statement :=
      readLine_eq_ok_iff.mpr hline.writes
    have hopen : openAfterLine false written = false := openAfterLine_of_not_opens hline.not_opens
    rw [statementLines_cons, hline.lineOf?_eq number, hopen, if_neg Bool.false_ne_true,
      Option.toList_some, List.singleton_append, readLines_cons_of_ok hread, ih]
    rfl

/-! ## Lines of a comment -/

/-- A line that opens a comment states nothing itself. -/
theorem statementLines_of_opens {written : Text} (h : Opens written) (number : Nat)
    (rest : List Text) :
    statementLines number false (written :: rest) =
      statementLines (number + 1) (openAfterLine false written) rest := by
  rw [statementLines_cons, lineOf?_of_opens h]
  rfl

theorem statementLines_of_trim_eq_nil {written : Text} (h : Text.trim written = [])
    (number : Nat) (rest : List Text) :
    statementLines number false (written :: rest) = statementLines (number + 1) false rest := by
  rw [statementLines_cons, lineOf?_of_trim_eq_nil h,
    openAfterLine_of_not_opens (not_opens_of_trim_eq_nil h)]
  rfl

/-- Empty lines state nothing. -/
theorem statementLines_replicate_nil (number count : Nat) (rest : List Text) :
    statementLines number false (List.replicate count [] ++ rest) =
      statementLines (number + count) false rest := by
  induction count generalizing number with
  | zero => rfl
  | succ count ih =>
    have hnumber : number + (count + 1) = number + 1 + count := by omega
    rw [List.replicate_succ, List.cons_append, statementLines_of_trim_eq_nil rfl, ih, hnumber]

/-- Nothing is stated in a comment that no line closes. -/
theorem statementLines_of_forall_not_closes {lines : List Text}
    (h : ∀ written ∈ lines, ¬ Closes written) (number : Nat) :
    statementLines number true lines = [] := by
  induction lines generalizing number with
  | nil => rfl
  | cons written rest ih =>
    obtain ⟨hwritten, hrest⟩ := List.forall_mem_cons.mp h
    rw [statementLines_cons, openAfterLine_true_iff.mpr hwritten, ih hrest]
    rfl

/-- What follows `/*` on a line decides whether the comment goes on behind the line. -/
theorem openAfterLine_of_trim {written rest : Text} (h : Text.trim written = '/' :: '*' :: rest) :
    openAfterLine false written = false ↔ ['*', '/'] <:+ rest := by
  rw [← Bool.not_eq_true, openAfterLine_false_iff, OpensAcross, h]
  simp

/-! ## Lines where they stand -/

/-- What a scan takes from a line, if anything, and then from the lines after it. -/
theorem statementLines_at (number : Nat) (inBlock : Bool) (before after : List Text)
    (written : Text) :
    statementLines number inBlock (before ++ written :: after) =
      statementLines number inBlock before ++
        ((if openAfter inBlock before then none
          else lineOf? (number + before.length) written).toList ++
        statementLines (number + before.length + 1)
          (openAfterLine (openAfter inBlock before) written) after) := by
  rw [statementLines_append, statementLines_cons]

/-- A line of a source is scanned where it stands, up to white space at its end. -/
theorem exists_statementLines_at {before line ending after : Text}
    (h : Text.IsLineAt before line ending after) :
    ∃ written, Text.trim written = Text.trim line ∧ ∀ number inBlock,
      statementLines number inBlock (Text.textLines (before ++ line ++ ending ++ after)) =
        statementLines number inBlock
          (Text.textLines before ++ written :: Text.textLines after) := by
  obtain ⟨written, htrim, hlines | ⟨rfl, rfl, hlines⟩⟩ := Text.exists_textLines_at h
  · exact ⟨written, htrim, fun _ _ => by rw [hlines]⟩
  · -- an empty line at the end is none, which makes no difference
    refine ⟨[], htrim, fun number inBlock => ?_⟩
    rw [hlines, statementLines_at, lineOf?_of_trim_eq_nil rfl]
    simp [statementLines]

end Source

end Soundalike
