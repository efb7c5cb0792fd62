import Soundalike.Proofs.LineReadings
import Soundalike.Proofs.WrittenLines

set_option autoImplicit false

/-!
# Writing a rule source

Rules and foldings can be written in many ways: a field in double quotes or, mostly, without them,
and any white space between fields and around the two sides of a folding (`Entry.IsWrittenAs`,
`IsWritten`).  However a list of them is written, one on each line, it is read back as it was
(`statements_of_isWritten`).
-/

namespace Soundalike

/-! ## Entries -/

/-- A field that can be written in a rule: it holds no white space, no equals sign and no start of a
comment.  It may be empty, and it may hold double quotes and bars. -/
structure PlainField where
  text : Text
  solid : ∀ c ∈ text, Text.isWhiteSpace c = false
  sign_not_mem : Statement.foldingSign ∉ text
  comment_free : ¬ ['/', '/'] <:+: text

/-- A character that can stand on a side of a folding. -/
structure PlainSide where
  char : Char
  solid : Text.isWhiteSpace char = false
  ne_sign : char ≠ Statement.foldingSign

/-- What is written on one line of a rule source: the four fields of a rule, of which the first is
not empty, or the two sides of a folding. -/
inductive Entry where
  | rule (pattern atStart beforeVowel elsewhere : PlainField) (pattern_ne_nil : pattern.text ≠ [])
  | folding (letter folded : PlainSide)

/-- The statement that an entry makes. -/
def Entry.statement : Entry → Statement
  | .rule pattern atStart beforeVowel elsewhere pattern_ne_nil =>
    .rule ((Rule.ofFields? pattern.text atStart.text beforeVowel.text elsewhere.text).get
      (Option.isSome_iff_ne_none.mpr (mt Rule.ofFields?_eq_none_iff.mp pattern_ne_nil)))
  | .folding letter folded => .folding letter.char folded.char

/-! ## Written forms -/

/-- The words that write a field: in double quotes, or bare if that is not empty and has no double
quote at either end. -/
inductive PlainField.IsWrittenAs (field : PlainField) : Text → Prop
  | quoted : field.IsWrittenAs ('"' :: field.text ++ ['"'])
  | bare (hne : field.text ≠ []) (hfirst : field.text.head? ≠ some '"')
      (hlast : field.text.getLast? ≠ some '"') : field.IsWrittenAs field.text

/-- The texts that write an entry on a line, up to white space before and after it.  The first word
of a rule must not look like the start of a block comment, which it never does in double quotes. -/
inductive Entry.IsWrittenAs : Entry → Text → Prop
  | rule {pattern atStart beforeVowel elsewhere : PlainField} {pattern_ne_nil : pattern.text ≠ []}
      {first second third fourth line : Text} (hfirst : pattern.IsWrittenAs first)
      (hsecond : atStart.IsWrittenAs second) (hthird : beforeVowel.IsWrittenAs third)
      (hfourth : elsewhere.IsWrittenAs fourth) (hopens : ¬ ['/', '*'] <+: first)
      (hspaced : Text.IsSpaced [first, second, third, fourth] line) :
      IsWrittenAs (.rule pattern atStart beforeVowel elsewhere pattern_ne_nil) line
  | folding {letter folded : PlainSide} {left right : Text} (hleft : Text.IsMargin left)
      (hright : Text.IsMargin right) :
      IsWrittenAs (.folding letter folded)
        (letter.char :: left ++ Statement.foldingSign :: right ++ [folded.char])

/-- The sources that hold entries, each on a line of its own, with white space before and after it;
the ending of the last line may be missing. -/
inductive IsWritten : List Entry → Text → Prop
  | nil : IsWritten [] []
  | last {entry : Entry} {before line after : Text} (hbefore : Text.IsMargin before)
      (hline : entry.IsWrittenAs line) (hafter : Text.IsMargin after) :
      IsWritten [entry] (before ++ line ++ after)
  | cons {entry : Entry} {entries : List Entry} {before line after ending rest : Text}
      (hbefore : Text.IsMargin before) (hline : entry.IsWrittenAs line)
      (hafter : Text.IsMargin after) (hending : Text.IsLineEnd ending)
      (hrest : IsWritten entries rest) :
      IsWritten (entry :: entries) (before ++ line ++ after ++ ending ++ rest)

/-! ## Fields -/

namespace PlainField

variable {field : PlainField} {word : Text}

/-- Quotes are taken off again, and a bare field has none to take off. -/
theorem IsWrittenAs.unquote_eq (h : field.IsWrittenAs word) :
    Statement.unquote word = field.text := by
  cases h with
  | quoted => exact Statement.unquote_quoted field.text
  | bare _ hfirst hlast => exact Statement.unquote_bare hfirst hlast

theorem IsWrittenAs.mem (h : field.IsWrittenAs word) {c : Char} (hc : c ∈ word) :
    c = '"' ∨ c ∈ field.text := by
  cases h with
  | quoted => simpa [or_comm, or_assoc] using hc
  | bare => exact Or.inr hc

theorem IsWrittenAs.isWord (h : field.IsWrittenAs word) : Text.IsWord word := by
  constructor
  · cases h with
    | quoted => simp
    | bare hne => exact hne
  · intro c hc
    rcases h.mem hc with rfl | hmem
    · rfl
    · exact field.solid c hmem

theorem IsWrittenAs.sign_not_mem (h : field.IsWrittenAs word) :
    Statement.foldingSign ∉ word := by
  intro hmem
  rcases h.mem hmem with hquote | hfield
  · exact absurd hquote (by decide)
  · exact field.sign_not_mem hfield

theorem IsWrittenAs.comment_free (h : field.IsWrittenAs word) :
    ¬ ['/', '/'] <:+: word := by
  have hfield := field.comment_free
  cases h with
  | quoted =>
    -- nothing is cut off the quoted field, since a quote is no slash
    have hquote : '"' ≠ '/' := by decide
    rw [← Source.beforeComment_eq_self_iff, List.cons_append, Source.beforeComment_cons,
      Source.beforeComment_append_cons hfield hquote]
    · rfl
    · simp [List.cons_prefix_cons]
  | bare => exact hfield

end PlainField

/-! ## Lines -/

open Source

theorem Text.IsSpaced.beforeComment_eq {spaced : List Text} {line : Text}
    (h : Text.IsSpaced spaced line) (hwords : ∀ word ∈ spaced, ¬ ['/', '/'] <:+: word) :
    beforeComment line = line := by
  induction h with
  | last word => exact beforeComment_eq_self_iff.mpr (hwords word List.mem_cons_self)
  | @cons word gap rest others hgap _ ih =>
    obtain ⟨hword, hothers⟩ := List.forall_mem_cons.mp hwords
    obtain ⟨c, blanks, rfl, hc, hblanks⟩ := hgap.exists_cons
    have hslash : c ≠ '/' := Text.ne_of_isWhiteSpace hc rfl
    rw [List.append_assoc, List.cons_append, beforeComment_append_cons hword hslash,
      beforeComment_blanks_append hblanks, ih hothers]

/-- A line of words starts a block comment only if its first word does. -/
theorem Text.IsSpaced.not_opens {word line : Text} {others : List Text}
    (h : Text.IsSpaced (word :: others) line) (hword : Text.IsWord word)
    (hopens : ¬ ['/', '*'] <+: word) : ¬ ['/', '*'] <+: line := by
  obtain ⟨rest, rfl, hrest⟩ := h.exists_rest
  exact not_isPrefix_append hword.ne_nil hopens hrest

namespace Entry

variable {entry : Entry} {line written : Text}

/-- What a line of a source needs to be read as an entry, whatever white space is around it. -/
structure IsPlainLine (entry : Entry) (line : Text) : Prop where
  newline_not_mem : '\n' ∉ line
  trim_eq : Text.trim line = line
  beforeComment_eq : beforeComment line = line
  not_opens : ¬ ['/', '*'] <+: line
  writes : Statement.Writes line entry.statement

theorem IsPlainLine.states (h : entry.IsPlainLine line) (htrim : Text.trim written = line) :
    States written entry.statement := by
  constructor
  · rw [Opens, htrim]
    exact h.not_opens
  · rw [← trim_beforeComment_trim, htrim, h.beforeComment_eq, h.trim_eq]
    exact h.writes

theorem isPlainLine_rule {pattern atStart beforeVowel elsewhere : PlainField}
    {pattern_ne_nil : pattern.text ≠ []} {first second third fourth : Text}
    (hfirst : pattern.IsWrittenAs first) (hsecond : atStart.IsWrittenAs second)
    (hthird : beforeVowel.IsWrittenAs third) (hfourth : elsewhere.IsWrittenAs fourth)
    (hopens : ¬ ['/', '*'] <+: first)
    (hspaced : Text.IsSpaced [first, second, third, fourth] line) :
    (rule pattern atStart beforeVowel elsewhere pattern_ne_nil).IsPlainLine line := by
  have hfields : ∀ word ∈ [first, second, third, fourth],
      ∃ field : PlainField, field.IsWrittenAs word := by
    simp only [List.forall_mem_cons]
    exact ⟨⟨_, hfirst⟩, ⟨_, hsecond⟩, ⟨_, hthird⟩, ⟨_, hfourth⟩, List.forall_mem_nil _⟩
  have hwords : ∀ word ∈ [first, second, third, fourth], Text.IsWord word := by
    intro word hword
    obtain ⟨field, hfield⟩ := hfields word hword
    exact hfield.isWord
  have hfree : ∀ word ∈ [first, second, third, fourth], ¬ ['/', '/'] <:+: word := by
    intro word hword
    obtain ⟨field, hfield⟩ := hfields word hword
    exact hfield.comment_free
  have hnewline : ∀ word ∈ [first, second, third, fourth], '\n' ∉ word :=
    fun word hword hmem => Text.ne_of_isWhiteSpace rfl ((hwords word hword).solid _ hmem) rfl
  have hsign : ∀ word ∈ [first, second, third, fourth], Statement.foldingSign ∉ word := by
    intro word hword
    obtain ⟨field, hfield⟩ := hfields word hword
    exact hfield.sign_not_mem
  refine ⟨hspaced.not_mem (Or.inl rfl) hnewline, hspaced.trim_eq hwords,
    hspaced.beforeComment_eq hfree, hspaced.not_opens hfirst.isWord hopens, ?_⟩
  refine .rule (hspaced.not_mem (Or.inr (by decide)) hsign) (hspaced.words_eq hwords) ?_
  rw [hfirst.unquote_eq, hsecond.unquote_eq, hthird.unquote_eq, hfourth.unquote_eq]
  exact (Option.some_get _).symm

section

variable {letter folded : PlainSide} {left right : Text}

/-- On either side of the equals sign stands one character, so there are no two slashes. -/
theorem beforeComment_folding (hleft : Text.IsBlank left) (hright : Text.IsBlank right) :
    beforeComment (letter.char :: left ++ Statement.foldingSign :: (right ++ [folded.char])) =
      letter.char :: left ++ Statement.foldingSign :: (right ++ [folded.char]) := by
  have hcount : ∀ side : PlainSide, [side.char].count '/' ≤ 1 := fun side => List.count_le_length
  have hleftFree : ¬ ['/', '/'] <:+: letter.char :: left := by
    refine not_isInfix_of_count_lt ?_
    rw [← List.singleton_append, List.count_append, count_slash_of_isBlank hleft]
    have := hcount letter
    omega
  have hrightFree : ¬ ['/', '/'] <:+: right ++ [folded.char] := by
    refine not_isInfix_of_count_lt ?_
    rw [List.count_append, count_slash_of_isBlank hright]
    have := hcount folded
    omega
  rw [beforeComment_append_cons hleftFree (by decide), beforeComment_eq_self_iff.mpr hrightFree]

/-- The two sides are found again, without the white space around them. -/
theorem writes_folding (hleft : Text.IsBlank left) (hright : Text.IsBlank right) :
    Statement.Writes (letter.char :: left ++ Statement.foldingSign :: (right ++ [folded.char]))
      (folding letter folded).statement := by
  have hsides : Statement.HasSides
      (letter.char :: left ++ Statement.foldingSign :: (right ++ [folded.char]))
      (letter.char :: left) (right ++ [folded.char]) := by
    refine ⟨rfl, ?_, ?_⟩
    · simpa [letter.ne_sign.symm] using hleft.not_mem rfl
    · simpa [folded.ne_sign.symm] using hright.not_mem rfl
  have hsingle : ∀ side : PlainSide, Text.trim [side.char] = [side.char] :=
    fun side => Text.trim_eq_self (by simp [side.solid]) (by simp [side.solid])
  refine .folding hsides ?_ ?_
  · rw [← List.singleton_append, Text.trim_append_blanks hleft, hsingle]
  · rw [Text.trim_blanks_append hright, hsingle]

theorem isPlainLine_folding (hleft : Text.IsMargin left) (hright : Text.IsMargin right) :
    (folding letter folded).IsPlainLine
      (letter.char :: left ++ Statement.foldingSign :: right ++ [folded.char]) := by
  have hside : ∀ side : PlainSide, '\n' ≠ side.char :=
    fun side => Text.ne_of_isWhiteSpace rfl side.solid
  rw [List.append_assoc, List.cons_append]
  constructor
  · simp [hside, hleft.2, hright.2, Statement.foldingSign]
  · refine Text.trim_eq_self ?_ ?_
    · simp [letter.solid]
    · intro c hc
      rw [← List.cons_append, ← List.append_assoc, List.getLast?_concat, Option.mem_some_iff] at hc
      exact hc ▸ folded.solid
  · exact beforeComment_folding hleft.1 hright.1
  · -- the second character is an equals sign or white space
    cases left with
    | nil => simp [List.cons_prefix_cons, Statement.foldingSign]
    | cons c left =>
      have hstar : c ≠ '*' := Text.ne_of_isWhiteSpace (hleft.1 c List.mem_cons_self) rfl
      simp [List.cons_prefix_cons, hstar.symm]
  · exact writes_folding hleft.1 hright.1

end

theorem IsWrittenAs.isPlainLine (h : entry.IsWrittenAs line) : entry.IsPlainLine line := by
  cases h with
  | rule hfirst hsecond hthird hfourth hopens hspaced =>
    exact isPlainLine_rule hfirst hsecond hthird hfourth hopens hspaced
  | folding hleft hright => exact isPlainLine_folding hleft hright

end Entry

/-! ## Sources -/

/-- Every line of a written source states its entry. -/
theorem IsWritten.forall₂_states {entries : List Entry} {source : Text}
    (h : IsWritten entries source) :
    List.Forall₂ States (Text.textLines source) (entries.map Entry.statement) := by
  induction h with
  | nil => exact .nil
  | @last entry before line after hbefore hline hafter =>
    have hplain := hline.isPlainLine
    have hfree := Text.newline_not_mem_margins hbefore hplain.newline_not_mem hafter
    have htrim := (Text.trim_margins hbefore hafter line).trans hplain.trim_eq
    have hne : before ++ line ++ after ≠ [] := by
      intro hnil
      rw [hnil] at htrim
      exact hplain.writes.ne_nil htrim.symm
    rw [Text.textLines, Text.lines_of_not_mem '\r' hfree, if_neg hne]
    exact .cons (hplain.states htrim) .nil
  | @cons entry entries before line after ending rest hbefore hline hafter hending _ ih =>
    have hplain := hline.isPlainLine
    have hfree := Text.newline_not_mem_margins hbefore hplain.newline_not_mem hafter
    have htrim := (Text.trim_margins hbefore hafter line).trans hplain.trim_eq
    obtain ⟨written, hlines, hwritten⟩ := hending.exists_textLines hfree
    rw [Text.textLines_append (hending.wholeLines _), hlines]
    exact .cons (hplain.states (hwritten.trans htrim)) ih

/-- However a list of rules and foldings is written, it is read back: every rule is the one that is
built of its four fields as they were before quotes were put around them, every folding has its two
characters, and all come in the order in which they were written. -/
theorem statements_of_isWritten {entries : List Entry} {source : Text}
    (h : IsWritten entries source) :
    statements source = .ok (entries.map Entry.statement) :=
  readLines_of_states h.forall₂_states 1

/-- A rule with a bare field among quoted ones, of which one is empty and one holds a double quote,
and a folding with white space around it. -/
theorem statements_of_isWritten_sch :
    let sch : PlainField :=
      ⟨"sch".toList, by simp [Text.isWhiteSpace], by decide, not_isInfix_of_count_lt (by decide)⟩
    let bars : PlainField :=
      ⟨"4|5".toList, by simp [Text.isWhiteSpace], by decide, not_isInfix_of_count_lt (by decide)⟩
    let nothing : PlainField :=
      ⟨[], by simp, by decide, not_isInfix_of_count_lt (by decide)⟩
    let quote : PlainField :=
      ⟨['"'], by simp [Text.isWhiteSpace], by decide, not_isInfix_of_count_lt (by decide)⟩
    let entries := [.rule sch bars nothing quote (by decide),
      .folding ⟨'ß', by decide, by decide⟩ ⟨'s', by decide, by decide⟩]
    let source := "\"sch\"  4|5\u00A0\"\"\t\"\"\"\r\n ß =\ts".toList
    IsWritten entries source ∧ statements source = .ok (entries.map Entry.statement) ∧
      (entries.map Entry.statement).filterMap Statement.rule? =
        (Rule.ofFields? "Sch".toList "4|5".toList [] ['"']).toList := by
  intro sch bars nothing quote entries source
  have hspace : Text.IsMargin [' '] := ⟨List.forall_mem_singleton.mpr rfl, by decide⟩
  have htab : Text.IsMargin ['\t'] := ⟨List.forall_mem_singleton.mpr rfl, by decide⟩
  have hfixed : Text.IsMargin ['\u00A0'] := ⟨List.forall_mem_singleton.mpr rfl, by decide⟩
  have hfirst : Text.IsGap "  ".toList := ⟨by decide, hspace.append hspace⟩
  have hsecond : Text.IsGap ['\u00A0'] := ⟨by decide, hfixed⟩
  have hthird : Text.IsGap ['\t'] := ⟨by decide, htab⟩
  have hspaced : Text.IsSpaced ["\"sch\"".toList, "4|5".toList, "\"\"".toList, "\"\"\"".toList]
      "\"sch\"  4|5\u00A0\"\"\t\"\"\"".toList :=
    .cons hfirst <| .cons hsecond <| .cons hthird <| .last _
  have hrule : Entry.IsWrittenAs (.rule sch bars nothing quote (by decide))
      "\"sch\"  4|5\u00A0\"\"\t\"\"\"".toList :=
    .rule .quoted (.bare (by decide) (by decide) (by decide)) .quoted .quoted (by decide) hspaced
  have hwritten : IsWritten entries source :=
    .cons .nil hrule .nil .returnNewline <| .last hspace (.folding hspace htab) .nil
  exact ⟨hwritten, statements_of_isWritten hwritten, by decide +kernel⟩

end Soundalike
