import Mathlib.Data.List.Induction
import Soundalike.Proofs.Pieces
import Soundalike.Rule.Source

set_option autoImplicit false

/-!
# Live lines

Which lines of a source have to be statements, said by where block comments open and close instead
of by a flag that a scan carries along.  A line is live if it is part of no block comment and
something is left of it before its first `//` (`IsLive`).  The scan picks exactly the live lines, in
the order of their numbers (`mem_statementLines_iff_isLive`, `pairwise_number_statementLines`).
-/

namespace Soundalike.Source

/-! ## Comments -/

/-- `kept` is what a text has before its first `//`, and all of it if there is none. -/
def IsCutAtComment (text kept : Text) : Prop :=
  (¬ ['/', '/'] <:+: text ∧ kept = text) ∨
    ∃ comment, text = kept ++ '/' :: '/' :: comment ∧ ¬ ['/', '/'] <:+: kept ++ ['/']

/-- A line that starts with `/*` begins a block comment. -/
def Opens (written : Text) : Prop := ['/', '*'] <+: Text.trim written

/-- A line that ends with `*/` ends a block comment that was opened before it. -/
def Closes (written : Text) : Prop := ['*', '/'] <:+ Text.trim written

/-- The block comment that a line opens goes on behind it, since what follows the opening does not
end with `*/`. -/
def OpensAcross (written : Text) : Prop :=
  ∃ rest, Text.trim written = '/' :: '*' :: rest ∧ ¬ ['*', '/'] <:+ rest

/-- Lines after which no block comment is open: each comment that goes on behind its opening line
has ended, with the first line that closes it. -/
inductive Settled : List Text → Prop
  | nil : Settled []
  | line {before : List Text} {written : Text} (hbefore : Settled before)
      (hacross : ¬ OpensAcross written) : Settled (before ++ [written])
  | comment {before inner : List Text} {opening closing : Text} (hbefore : Settled before)
      (hopening : OpensAcross opening) (hinner : ∀ written ∈ inner, ¬ Closes written)
      (hclosing : Closes closing) : Settled (before ++ opening :: inner ++ [closing])

/-- Lines after which a block comment is open: it was opened where no other one was open, and no
line after its opening line has closed it. -/
def LeavesOpen (before : List Text) : Prop :=
  ∃ outside opening inner, before = outside ++ opening :: inner ∧ Settled outside ∧
    OpensAcross opening ∧ ∀ written ∈ inner, ¬ Closes written

/-- A line is part of a block comment if the lines before it leave one open, or if it opens one. -/
def InComment (before : List Text) (written : Text) : Prop := LeavesOpen before ∨ Opens written

/-- A line is live if it is part of no block comment and not blank before its first `//`. -/
inductive IsLive (lines : List Text) : SourceLine → Prop
  | intro {before after : List Text} {written kept : Text}
      (hlines : lines = before ++ written :: after) (hcomment : ¬ InComment before written)
      (hkept : IsCutAtComment written kept) (hne : Text.trim kept ≠ []) :
      IsLive lines ⟨before.length + 1, written, Text.trim kept⟩

/-! ## Cutting a line -/

theorem beforeComment_cons {c : Char} {rest : Text} (h : ¬ ['/', '/'] <+: c :: rest) :
    beforeComment (c :: rest) = c :: beforeComment rest := by
  rw [beforeComment]
  rintro tail rfl rfl
  exact h ⟨tail, rfl⟩

theorem isCutAtComment_beforeComment (text : Text) :
    IsCutAtComment text (beforeComment text) := by
  induction text with
  | nil => exact Or.inl ⟨by simp, rfl⟩
  | cons c rest ih =>
    by_cases hcomment : ['/', '/'] <+: c :: rest
    · obtain ⟨comment, hcons⟩ := hcomment
      refine Or.inr ⟨comment, ?_, ?_⟩
      · rw [← hcons]
        rfl
      · rw [← hcons, List.cons_append, List.cons_append, beforeComment]
        decide
    · rw [beforeComment_cons hcomment]
      rcases ih with ⟨hfree, hall⟩ | ⟨comment, hcut, hfree⟩
      · refine Or.inl ⟨?_, by rw [hall]⟩
        rw [List.infix_cons_iff, not_or]
        exact ⟨hcomment, hfree⟩
      · refine Or.inr ⟨comment, by rw [List.cons_append, ← hcut], ?_⟩
        rw [List.cons_append, List.infix_cons_iff, not_or]
        refine ⟨fun hbegins => hcomment (hbegins.trans ?_), hfree⟩
        rw [List.prefix_cons_inj]
        exact ⟨'/' :: comment, by rw [List.append_assoc]; exact hcut.symm⟩

theorem beforeComment_eq_of_isCutAtComment {text kept : Text} (h : IsCutAtComment text kept) :
    beforeComment text = kept := by
  rcases h with ⟨hfree, rfl⟩ | ⟨comment, rfl, hfree⟩
  · induction kept with
    | nil => rfl
    | cons c rest ih =>
      rw [List.infix_cons_iff, not_or] at hfree
      rw [beforeComment_cons hfree.1, ih hfree.2]
  · induction kept with
    | nil => rfl
    | cons c rest ih =>
      rw [List.cons_append, List.infix_cons_iff, not_or] at hfree
      obtain ⟨hstart, hrest⟩ := hfree
      rw [List.cons_append, beforeComment_cons, ih hrest]
      -- two slashes at the start would stand in what is kept and the first slash after it
      intro hbegins
      have hwhole : c :: (rest ++ ['/']) <+: c :: (rest ++ '/' :: '/' :: comment) :=
        ⟨'/' :: comment, by simp⟩
      exact hstart (List.prefix_of_prefix_length_le hbegins hwhole (by simp))

/-! ## Cutting and trimming

A line is trimmed before it is cut, and what is left is trimmed again; trimming once at the end
comes to the same. -/

theorem not_isPrefix_of_isWhiteSpace {c : Char} (h : Text.isWhiteSpace c = true) (rest : Text) :
    ¬ ['/', '/'] <+: c :: rest := by
  rw [List.cons_prefix_cons]
  rintro ⟨rfl, -⟩
  cases h

theorem beforeComment_blanks_append {blanks : Text} (h : Text.IsBlank blanks) (text : Text) :
    beforeComment (blanks ++ text) = blanks ++ beforeComment text := by
  induction blanks with
  | nil => rfl
  | cons c rest ih =>
    obtain ⟨hc, hrest⟩ := List.forall_mem_cons.mp h
    rw [List.cons_append, beforeComment_cons (not_isPrefix_of_isWhiteSpace hc _), ih hrest]
    rfl

theorem exists_blanks_beforeComment_append {blanks : Text} (h : Text.IsBlank blanks)
    (text : Text) :
    ∃ left, Text.IsBlank left ∧ beforeComment (text ++ blanks) = beforeComment text ++ left := by
  induction text with
  | nil =>
    refine ⟨blanks, h, ?_⟩
    have hblanks := beforeComment_blanks_append h []
    rw [List.append_nil] at hblanks
    rw [List.nil_append, hblanks]
    exact List.append_nil _
  | cons c rest ih =>
    by_cases hcomment : ['/', '/'] <+: c :: rest
    · obtain ⟨comment, hcons⟩ := hcomment
      refine ⟨[], List.forall_mem_nil _, ?_⟩
      rw [← hcons]
      rfl
    · obtain ⟨left, hleft, heq⟩ := ih
      refine ⟨left, hleft, ?_⟩
      rw [beforeComment_cons hcomment, List.cons_append, beforeComment_cons, heq]
      · rfl
      · -- the second slash of a comment cannot be one of the blanks
        cases rest with
        | nil =>
          cases blanks with
          | nil => exact hcomment
          | cons blank blanks =>
            rintro hbegins
            have hsecond : ['/'] <+: blank :: blanks := (List.cons_prefix_cons.mp hbegins).2
            obtain ⟨rfl, -⟩ := List.cons_prefix_cons.mp hsecond
            exact absurd (h '/' List.mem_cons_self) (by decide)
        | cons d rest =>
          simpa [List.cons_prefix_cons] using hcomment

theorem trim_beforeComment_trim (text : Text) :
    Text.trim (beforeComment (Text.trim text)) = Text.trim (beforeComment text) := by
  obtain ⟨before, after, hbefore, hafter, htext⟩ := Text.exists_blanks text
  obtain ⟨left, hleft, hcut⟩ := exists_blanks_beforeComment_append hafter (Text.trim text)
  have hwhole : beforeComment text = before ++ (beforeComment (Text.trim text) ++ left) := by
    rw [← hcut, ← beforeComment_blanks_append hbefore, ← List.append_assoc, ← htext]
  rw [hwhole, Text.trim_blanks_append hbefore, Text.trim_append_blanks hleft]

/-! ## The state of a scan -/

/-- Whether a block comment is open after a line, given whether one was open before it. -/
def openAfterLine (inBlock : Bool) (written : Text) : Bool :=
  if inBlock then !closesBlock (Text.trim written)
  else opensBlock (Text.trim written) && !closesBlock ((Text.trim written).drop 2)

/-- Whether a block comment is open after lines, given whether one was open before them. -/
def openAfter (inBlock : Bool) (lines : List Text) : Bool := lines.foldl openAfterLine inBlock

/-- What a line has to state if no block comment is open before it. -/
def lineOf? (number : Nat) (written : Text) : Option SourceLine :=
  let statement := Text.trim (beforeComment written)
  if opensBlock (Text.trim written) = true ∨ statement = [] then none
  else some ⟨number, written, statement⟩

theorem statementLines_cons (number : Nat) (inBlock : Bool) (written : Text) (rest : List Text) :
    statementLines number inBlock (written :: rest) =
      (if inBlock then none else lineOf? number written).toList ++
        statementLines (number + 1) (openAfterLine inBlock written) rest := by
  rw [statementLines, openAfterLine, lineOf?, trim_beforeComment_trim]
  cases inBlock with
  | true => rfl
  | false =>
    by_cases hopens : opensBlock (Text.trim written) = true
    · simp [hopens]
    · by_cases hblank : Text.trim (beforeComment written) = []
      · simp [hopens, hblank]
      · simp [hopens, hblank]

/-- A line has to be a statement if it states something where no block comment is open. -/
theorem mem_statementLines_iff {number : Nat} {inBlock : Bool} {lines : List Text}
    {line : SourceLine} :
    line ∈ statementLines number inBlock lines ↔
      ∃ before written after, lines = before ++ written :: after ∧
        openAfter inBlock before = false ∧
        lineOf? (number + before.length) written = some line := by
  induction lines generalizing number inBlock with
  | nil =>
    constructor
    · intro h
      cases h
    · rintro ⟨before, written, after, hlines, -⟩
      simp at hlines
  | cons first rest ih =>
    rw [statementLines_cons, List.mem_append, ih]
    constructor
    · rintro (hfirst | ⟨before, written, after, rfl, hopen, hline⟩)
      · cases inBlock with
        | true => cases hfirst
        | false => exact ⟨[], first, rest, rfl, rfl, Option.mem_toList.mp hfirst⟩
      · refine ⟨first :: before, written, after, rfl, hopen, ?_⟩
        rw [List.length_cons, ← hline]
        congr 1
        omega
    · rintro ⟨before, written, after, hlines, hopen, hline⟩
      cases before with
      | nil =>
        obtain ⟨rfl, rfl⟩ := List.cons.inj hlines
        obtain rfl : inBlock = false := hopen
        exact Or.inl (Option.mem_toList.mpr hline)
      | cons head before =>
        obtain ⟨rfl, rfl⟩ := List.cons.inj hlines
        refine Or.inr ⟨before, written, after, rfl, hopen, ?_⟩
        rw [← hline, List.length_cons]
        congr 1
        omega

theorem number_of_lineOf? {number : Nat} {written : Text} {line : SourceLine}
    (h : lineOf? number written = some line) : line.number = number := by
  rw [lineOf?] at h
  split at h
  · cases h
  · exact (Option.some.inj h) ▸ rfl

/-- The lines that have to be statements stand in the order of their numbers. -/
theorem pairwise_number_statementLines (number : Nat) (inBlock : Bool) (lines : List Text) :
    (statementLines number inBlock lines).Pairwise (·.number < ·.number) := by
  induction lines generalizing number inBlock with
  | nil => exact List.Pairwise.nil
  | cons first rest ih =>
    rw [statementLines_cons, List.pairwise_append]
    refine ⟨?_, ih _ _, ?_⟩
    · cases (if inBlock then none else lineOf? number first) with
      | none => exact List.Pairwise.nil
      | some line => exact List.pairwise_singleton _ _
    · intro line hline later hlater
      obtain ⟨before, written, after, -, -, hlater⟩ := mem_statementLines_iff.mp hlater
      have hnumber : line.number = number := by
        cases inBlock with
        | true => cases hline
        | false => exact number_of_lineOf? (Option.mem_toList.mp hline)
      rw [hnumber, number_of_lineOf? hlater]
      omega

/-! ## Block comments -/

theorem opensBlock_iff {text : Text} : opensBlock text = true ↔ ['/', '*'] <+: text :=
  List.isPrefixOf_iff_prefix

theorem closesBlock_iff {text : Text} : closesBlock text = true ↔ ['*', '/'] <:+ text :=
  List.isSuffixOf_iff_suffix

/-- Outside comments a line opens one that goes on, or none is open after it. -/
theorem openAfterLine_false_iff {written : Text} :
    openAfterLine false written = true ↔ OpensAcross written := by
  have hopens : openAfterLine false written = true ↔
      ['/', '*'] <+: Text.trim written ∧ ¬ ['*', '/'] <:+ (Text.trim written).drop 2 := by
    rw [← opensBlock_iff, ← closesBlock_iff]
    simp [openAfterLine]
  rw [hopens, OpensAcross]
  constructor
  · rintro ⟨⟨rest, hrest⟩, hclosed⟩
    rw [← hrest] at hclosed
    exact ⟨rest, hrest.symm, hclosed⟩
  · rintro ⟨rest, hrest, hclosed⟩
    rw [hrest]
    exact ⟨⟨rest, rfl⟩, hclosed⟩

/-- Inside a comment any line but one that closes it leaves it open. -/
theorem openAfterLine_true_iff {written : Text} :
    openAfterLine true written = true ↔ ¬ Closes written := by
  rw [Closes, ← closesBlock_iff]
  simp [openAfterLine]

theorem openAfterLine_of_closes {written : Text} (h : Closes written) :
    openAfterLine true written = false := by
  rw [← Bool.not_eq_true, openAfterLine_true_iff, not_not]
  exact h

theorem openAfter_append (inBlock : Bool) (first second : List Text) :
    openAfter inBlock (first ++ second) = openAfter (openAfter inBlock first) second :=
  List.foldl_append

theorem openAfter_snoc (inBlock : Bool) (before : List Text) (written : Text) :
    openAfter inBlock (before ++ [written]) = openAfterLine (openAfter inBlock before) written :=
  openAfter_append inBlock before [written]

/-- A comment stays open on lines of which none closes it. -/
theorem openAfter_true_of_forall_not_closes {inner : List Text}
    (h : ∀ written ∈ inner, ¬ Closes written) : openAfter true inner = true := by
  induction inner using List.reverseRecOn with
  | nil => rfl
  | append_singleton before written ih =>
    rw [openAfter_snoc, ih fun w hw => h w (List.mem_append_left _ hw), openAfterLine_true_iff]
    exact h written (List.mem_append_right _ List.mem_cons_self)

/-- The lines of a comment that has not ended: its opening line and others that do not close it. -/
theorem openAfter_comment {opening : Text} {inner : List Text} (hopening : OpensAcross opening)
    (hinner : ∀ written ∈ inner, ¬ Closes written) :
    openAfter false (opening :: inner) = true := by
  have hfirst : openAfterLine false opening = true := openAfterLine_false_iff.mpr hopening
  rw [openAfter, List.foldl_cons, hfirst]
  exact openAfter_true_of_forall_not_closes hinner

theorem openAfter_eq_false_of_settled {before : List Text} (h : Settled before) :
    openAfter false before = false := by
  induction h with
  | nil => rfl
  | line _ hacross ih =>
    rw [openAfter_snoc, ih, ← Bool.not_eq_true, openAfterLine_false_iff]
    exact hacross
  | comment _ hopening hinner hclosing ih =>
    rw [openAfter_snoc, openAfter_append, ih, openAfter_comment hopening hinner]
    exact openAfterLine_of_closes hclosing

theorem openAfter_eq_true_of_leavesOpen {before : List Text} (h : LeavesOpen before) :
    openAfter false before = true := by
  obtain ⟨outside, opening, inner, rfl, hsettled, hopening, hinner⟩ := h
  rw [openAfter_append, openAfter_eq_false_of_settled hsettled, openAfter_comment hopening hinner]

/-- After any lines all comments have ended, or one is open. -/
theorem settled_or_leavesOpen (before : List Text) : Settled before ∨ LeavesOpen before := by
  induction before using List.reverseRecOn with
  | nil => exact Or.inl .nil
  | append_singleton before written ih =>
    rcases ih with hsettled | ⟨outside, opening, inner, rfl, hsettled, hopening, hinner⟩
    · by_cases hacross : OpensAcross written
      · exact Or.inr ⟨before, written, [], rfl, hsettled, hacross, List.forall_mem_nil _⟩
      · exact Or.inl (.line hsettled hacross)
    · by_cases hcloses : Closes written
      · exact Or.inl (.comment hsettled hopening hinner hcloses)
      · refine Or.inr ⟨outside, opening, inner ++ [written], by simp, hsettled, hopening, ?_⟩
        intro line hline
        rcases List.mem_append.mp hline with hmem | hlast
        · exact hinner line hmem
        · exact List.mem_singleton.mp hlast ▸ hcloses

/-- The flag of a scan says whether a comment is open. -/
theorem openAfter_eq_true_iff {before : List Text} :
    openAfter false before = true ↔ LeavesOpen before := by
  constructor
  · intro h
    rcases settled_or_leavesOpen before with hsettled | hopen
    · rw [openAfter_eq_false_of_settled hsettled] at h
      cases h
    · exact hopen
  · exact openAfter_eq_true_of_leavesOpen

theorem openAfter_eq_false_iff {before : List Text} :
    openAfter false before = false ↔ ¬ LeavesOpen before := by
  rw [← openAfter_eq_true_iff, Bool.not_eq_true]

theorem not_inComment_iff {before : List Text} {written : Text} :
    ¬ InComment before written ↔ openAfter false before = false ∧ ¬ Opens written := by
  rw [InComment, not_or, openAfter_eq_false_iff]

/-! ## Live lines -/

theorem lineOf?_eq_some_iff {number : Nat} {written : Text} {line : SourceLine} :
    lineOf? number written = some line ↔
      ¬ Opens written ∧ ∃ kept, IsCutAtComment written kept ∧ Text.trim kept ≠ [] ∧
        line = ⟨number, written, Text.trim kept⟩ := by
  rw [lineOf?, Opens, ← opensBlock_iff]
  constructor
  · intro h
    split at h
    · cases h
    · next hstates =>
      rw [not_or] at hstates
      exact ⟨hstates.1, _, isCutAtComment_beforeComment _, hstates.2, (Option.some.inj h).symm⟩
  · rintro ⟨hopens, kept, hkept, hne, rfl⟩
    rw [beforeComment_eq_of_isCutAtComment hkept, if_neg (not_or.mpr ⟨hopens, hne⟩)]

/-- The lines that have to be statements are the live ones. -/
theorem mem_statementLines_iff_isLive {lines : List Text} {line : SourceLine} :
    line ∈ statementLines 1 false lines ↔ IsLive lines line := by
  rw [mem_statementLines_iff]
  constructor
  · rintro ⟨before, written, after, hlines, hopen, hline⟩
    obtain ⟨hopens, kept, hkept, hne, rfl⟩ := lineOf?_eq_some_iff.mp hline
    rw [Nat.add_comm]
    refine .intro hlines ?_ hkept hne
    exact not_inComment_iff.mpr ⟨hopen, hopens⟩
  · rintro ⟨hlines, hcomment, hkept, hne⟩
    obtain ⟨hopen, hopens⟩ := not_inComment_iff.mp hcomment
    refine ⟨_, _, _, hlines, hopen, lineOf?_eq_some_iff.mpr ⟨hopens, _, hkept, hne, ?_⟩⟩
    rw [Nat.add_comm]

end Soundalike.Source
