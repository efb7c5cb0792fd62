import Soundalike.Proofs.Pieces
import Soundalike.Proofs.ProgramAgreement
import Soundalike.Text.Utf8

set_option autoImplicit false

/-!
# Names as arguments and names on standard input

Names can be given as arguments or be listed on standard input, one on a line, with blank lines
between them and white space around them (`IsListing`).  However a listing is laid out, what is read
from it are its names (`ofInput_of_isListing`), and so an encoding program does the same with names
that are listed as with names that are given (`run_append_eq_run_listing`).
-/

namespace Soundalike

namespace Text

/-! ## Lines of bytes -/

/-- A carriage return is dropped from bytes where it is dropped from the text. -/
theorem dropReturn_toUtf8 (line : Text) :
    dropReturn 13 (toUtf8 line) = toUtf8 (dropReturn '\r' line) := by
  rcases List.eq_nil_or_concat line with rfl | ⟨start, last, rfl⟩
  · rfl
  · have hform : toUtf8 (start ++ [last]) = toUtf8 start ++ String.utf8EncodeChar last := by
      rw [toUtf8_append]
      simp [toUtf8]
    rw [List.concat_eq_append]
    by_cases hreturn : last = '\r'
    · rw [hform, hreturn]
      have hbyte : String.utf8EncodeChar '\r' = [13] := by decide
      rw [hbyte, dropReturn, if_pos List.getLast?_concat, List.dropLast_concat, dropReturn,
        if_pos List.getLast?_concat, List.dropLast_concat]
    · have hlast : (String.utf8EncodeChar last).getLast? ≠ some 13 := by
        intro h
        have hmem := (mem_utf8EncodeChar_iff (by decide) last).mp (List.mem_of_getLast? h)
        exact hreturn (Char.toNat_inj.mp hmem)
      rw [dropReturn, if_neg, dropReturn, if_neg]
      · rw [List.getLast?_concat]
        exact fun h => hreturn (Option.some.inj h)
      · rw [hform, List.getLast?_append_of_ne_nil _ String.utf8EncodeChar_ne_nil]
        exact hlast

end Text

namespace CommandLine

/-! ## Listings -/

/-- A name that can be given as an argument and be listed on a line. -/
structure IsGivenName (name : Text) : Prop where
  ne_nil : name ≠ []
  trim_eq : Text.trim name = name
  newline_not_mem : '\n' ∉ name
  head?_ne : name.head? ≠ some '-'

/-- The texts that list names, one on a line; the end of the last line may be missing. -/
inductive IsListing : List Text → Text → Prop
  /-- a last line without a name -/
  | lastBlank {margin : Text} (hmargin : Text.IsMargin margin) : IsListing [] margin
  /-- a last line with a name -/
  | lastName {before name after : Text} (hbefore : Text.IsMargin before)
      (hafter : Text.IsMargin after) : IsListing [name] (before ++ name ++ after)
  /-- a line without a name -/
  | blank {margin ending rest : Text} {names : List Text} (hmargin : Text.IsMargin margin)
      (hending : Text.IsLineEnd ending) (hrest : IsListing names rest) :
      IsListing names (margin ++ ending ++ rest)
  /-- a line with a name -/
  | name {before name after ending rest : Text} {names : List Text}
      (hbefore : Text.IsMargin before) (hafter : Text.IsMargin after)
      (hending : Text.IsLineEnd ending) (hrest : IsListing names rest) :
      IsListing (name :: names) (before ++ name ++ after ++ ending ++ rest)

namespace NameList

/-- The names of an input that has one more line in front. -/
def withLine (line : Text) (later : NameList) : NameList :=
  if Text.trim line = [] then later else ⟨Text.trim line :: later.names, later.complete⟩

theorem newlineByte_not_mem {line : Text} (h : '\n' ∉ line) : 10 ∉ Text.toUtf8 line :=
  fun hmem => h ((Text.mem_toUtf8_iff (by decide) rfl line).mp hmem)

theorem ofInput_line_append {line : Text} (h : '\n' ∉ line) (rest : Text) :
    ofInput (Text.toUtf8 (line ++ '\n' :: rest)) = (ofInput (Text.toUtf8 rest)).withLine line := by
  have hform : Text.toUtf8 (line ++ '\n' :: rest) = Text.toUtf8 line ++ 10 :: Text.toUtf8 rest := by
    rw [Text.toUtf8_append]
    rfl
  rw [hform, ofInput, Text.lines_append_cons 13 (newlineByte_not_mem h), Text.dropReturn_toUtf8,
    ofLines, Text.ofUtf8?_toUtf8]
  dsimp only
  rw [Text.trim_dropReturn]
  rfl

theorem ofInput_last_line {line : Text} (h : '\n' ∉ line) :
    ofInput (Text.toUtf8 line) = (⟨[], true⟩ : NameList).withLine line := by
  rw [ofInput, Text.lines_of_not_mem 13 (newlineByte_not_mem h)]
  split
  · next hnil =>
    have hline : line = [] := Option.some.inj
      ((Text.ofUtf8?_toUtf8 line).symm.trans (hnil ▸ Text.ofUtf8?_toUtf8 []))
    rw [hline]
    rfl
  · rw [ofLines, Text.ofUtf8?_toUtf8]
    rfl

/-- A line counts by what stands between its margins. -/
theorem ofInput_margins_append {before text after ending : Text} (hbefore : Text.IsMargin before)
    (htext : '\n' ∉ text) (hafter : Text.IsMargin after) (hending : Text.IsLineEnd ending)
    (rest : Text) :
    ofInput (Text.toUtf8 (before ++ text ++ after ++ ending ++ rest)) =
      (ofInput (Text.toUtf8 rest)).withLine text := by
  obtain ⟨margin, hmargin, rfl⟩ := hending.exists_margin
  have hafter' := hafter.append hmargin
  have hline : before ++ text ++ after ++ (margin ++ ['\n']) ++ rest =
      before ++ text ++ (after ++ margin) ++ '\n' :: rest := by simp
  rw [hline, ofInput_line_append (Text.newline_not_mem_margins hbefore htext hafter'), withLine,
    Text.trim_margins hbefore hafter', withLine]

theorem withLine_of_isBlank {line : Text} (h : Text.IsBlank line) (later : NameList) :
    later.withLine line = later :=
  if_pos (Text.trim_of_isBlank h)

theorem withLine_of_isGivenName {name : Text} (h : IsGivenName name) (later : NameList) :
    later.withLine name = ⟨name :: later.names, later.complete⟩ := by
  rw [withLine, h.trim_eq, if_neg h.ne_nil]

/-- What is read from a listing are its names. -/
theorem ofInput_of_isListing {names : List Text} {text : Text} (h : IsListing names text)
    (hnames : ∀ name ∈ names, IsGivenName name) : ofInput (Text.toUtf8 text) = ⟨names, true⟩ := by
  induction h with
  | @lastBlank margin hmargin =>
    rw [ofInput_last_line hmargin.2, withLine_of_isBlank hmargin.1]
  | @lastName before name after hbefore hafter =>
    have hname := hnames name List.mem_cons_self
    rw [ofInput_last_line (Text.newline_not_mem_margins hbefore hname.newline_not_mem hafter),
      withLine, Text.trim_margins hbefore hafter, ← withLine, withLine_of_isGivenName hname]
  | @blank margin ending rest names hmargin hending hrest ih =>
    have hline := ofInput_margins_append hmargin List.not_mem_nil .nil hending rest
    rw [List.append_nil, List.append_nil] at hline
    rw [hline, withLine_of_isBlank (List.forall_mem_nil _), ih hnames]
  | @name before name after ending rest names hbefore hafter hending hrest ih =>
    obtain ⟨hname, hothers⟩ := List.forall_mem_cons.mp hnames
    rw [ofInput_margins_append hbefore hname.newline_not_mem hafter hending,
      withLine_of_isGivenName hname, ih hothers]

end NameList

/-! ## Runs -/

section

variable {options given : List Text} {scanned : Arguments} {text : Text}

theorem head?_ne_of_mem_given (hgiven : ∀ name ∈ given, IsGivenName name) :
    ∀ name ∈ given, name.head? ≠ some '-' :=
  fun name hname => (hgiven name hname).head?_ne

theorem names_append_given (hgiven : ∀ name ∈ given, IsGivenName name) {remaining : List Text}
    (hnone : names remaining = []) : names (remaining ++ given) = given := by
  have hall : names given = given :=
    List.filter_eq_self.mpr fun name hname =>
      decide_eq_true (head?_ne_of_mem_given hgiven name hname)
  rw [names, List.filter_append, ← names, ← names, hnone, hall, List.nil_append]

/-- The names that are chosen are the same, given or listed. -/
theorem chosenNames_append_given (hgiven : ∀ name ∈ given, IsGivenName name) (hne : given ≠ [])
    (hlisting : IsListing given text) {remaining : List Text} (hnone : names remaining = [])
    (input : List UInt8) :
    chosenNames (remaining ++ given) input = chosenNames remaining (Text.toUtf8 text) := by
  rw [chosenNames, chosenNames, hnone, names_append_given hgiven hnone]
  dsimp only
  rw [NameList.ofInput_of_isListing hlisting hgiven]
  cases given with
  | nil => exact absurd rfl hne
  | cons name others => rfl

/-- Arguments whose flags ask for the same are run alike with names given and with names listed. -/
theorem loadAndPrint_append_given (hgiven : ∀ name ∈ given, IsGivenName name) (hne : given ≠ [])
    (hlisting : IsListing given text) (hnone : names scanned.remaining = []) (layout : Layout)
    (around : Surroundings) :
    loadAndPrint layout ⟨scanned.rulesPath, scanned.remaining ++ given⟩ around =
      loadAndPrint layout scanned { around with input := Text.toUtf8 text } := by
  have hfolding : wantsFolding (scanned.remaining ++ given) = wantsFolding scanned.remaining :=
    congrArg not (any_append_names (head?_ne_of_mem_given hgiven) (fun _ => head?_of_is rfl)
      scanned.remaining)
  exact loadAndPrint_congr layout rfl rfl hfolding
    (chosenNames_append_given hgiven hne hlisting hnone around.input)

/-- Names that are given after other arguments are treated as if they were listed on standard input,
whatever the other arguments ask for and however the names are laid out. -/
theorem run_append_eq_run_listing (hscan : Arguments.scan options = .ok scanned)
    (hhelp : wantsHelp scanned.remaining = false) (hnone : names scanned.remaining = [])
    (hne : given ≠ []) (hgiven : ∀ name ∈ given, IsGivenName name)
    (hlisting : IsListing given text) (around : Surroundings) :
    runEncode (options ++ given) around =
        runEncode options { around with input := Text.toUtf8 text } ∧
      runSoundex (options ++ given) around =
        runSoundex options { around with input := Text.toUtf8 text } := by
  have hscanGiven : Arguments.scan (options ++ given) =
      .ok ⟨scanned.rulesPath, scanned.remaining ++ given⟩ :=
    Arguments.scan_append_of_plain hscan fun name hname =>
      isPlain_of_head?_ne (head?_ne_of_mem_given hgiven name hname)
  have hhelpGiven : wantsHelp (scanned.remaining ++ given) = false :=
    (any_append_names (head?_ne_of_mem_given hgiven) (fun _ => head?_of_isEither rfl rfl)
      scanned.remaining).trans hhelp
  have hsplit : wantsSplit (scanned.remaining ++ given) = wantsSplit scanned.remaining :=
    any_append_names (head?_ne_of_mem_given hgiven) (fun _ => head?_of_is rfl) scanned.remaining
  constructor
  · rw [runEncode_eq_loadAndPrint hscanGiven hhelpGiven, runEncode_eq_loadAndPrint hscan hhelp]
    exact loadAndPrint_append_given hgiven hne hlisting hnone .single around
  · rw [runSoundex_eq_loadAndPrint hscanGiven hhelpGiven, runSoundex_eq_loadAndPrint hscan hhelp,
      hsplit]
    exact loadAndPrint_append_given hgiven hne hlisting hnone _ around

/-- Two names after options that turn to the Daitch-Mokotoff rules, and a listing of them with a
blank line first, another between them and no end of its last line. -/
theorem run_append_eq_run_listing_auerbach :
    let around : Surroundings := ⟨some "rules".toList, fun _ => .error .notFound, [0xFF]⟩
    let options := ["-r".toList, [], "--split".toList]
    let given := ["Auerbach".toList, "Peters".toList]
    let text := "\n Auerbach\t\r\n \r\n\u00A0Peters".toList
    IsListing given text ∧
      runEncode (options ++ given) around =
        runEncode options { around with input := Text.toUtf8 text } ∧
      runSoundex (options ++ given) around =
        runSoundex options { around with input := Text.toUtf8 text } ∧
      (runSoundex (options ++ given) around).output =
        [row "Auerbach".toList "097400".toList, row "Auerbach".toList "097500".toList,
          row "Peters".toList "734000".toList, row "Peters".toList "739400".toList] := by
  intro around options given text
  have hscan : Arguments.scan options = .ok ⟨some [], ["--split".toList]⟩ := by decide +kernel
  have hnames : ∀ name ∈ given, IsGivenName name := by
    refine List.forall_mem_cons.mpr ⟨?_, List.forall_mem_singleton.mpr ?_⟩
    · exact ⟨by decide, by decide +kernel, by decide, by decide⟩
    · exact ⟨by decide, by decide +kernel, by decide, by decide⟩
  have hspace : Text.IsMargin [' '] := ⟨List.forall_mem_singleton.mpr rfl, by decide⟩
  have htab : Text.IsMargin ['\t'] := ⟨List.forall_mem_singleton.mpr rfl, by decide⟩
  have hfixed : Text.IsMargin ['\u00A0'] := ⟨List.forall_mem_singleton.mpr rfl, by decide⟩
  have hlisting : IsListing given text :=
    .blank .nil .newline <| .name hspace htab .returnNewline <| .blank hspace .returnNewline <|
      .lastName hfixed .nil
  obtain ⟨hencode, hsoundex⟩ := run_append_eq_run_listing hscan (by decide +kernel)
    (by decide +kernel) (by decide) hnames hlisting around
  exact ⟨hlisting, hencode, hsoundex, by decide +kernel⟩

end

end CommandLine

end Soundalike
